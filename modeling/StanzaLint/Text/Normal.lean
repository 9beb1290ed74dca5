import StanzaLint.Text.Table
import Std.Data.HashMap

/-!
# Canonical composition

Text is taken apart into base characters and marks, the marks of one base are
put in order of their combining class, and then everything that has a composed
form is put together again. Hangul syllables follow their arithmetic.
-/

namespace StanzaLint.Text

def decompositionTable : Table := .read "
C0=41.300 C1=41.301 C2=41.302 C3=41.303 C4=41.308 C5=41.30A C7=43.327 C8=45.300 C9=45.301
CA=45.302 CB=45.308 CC=49.300 CD=49.301 CE=49.302 CF=49.308 D1=4E.303 D2=4F.300 D3=4F.301
D4=4F.302 D5=4F.303 D6=4F.308 D9=55.300 DA=55.301 DB=55.302 DC=55.308 DD=59.301 E0=61.300
E1=61.301 E2=61.302 E3=61.303 E4=61.308 E5=61.30A E7=63.327 E8=65.300 E9=65.301 EA=65.302
EB=65.308 EC=69.300 ED=69.301 EE=69.302 EF=69.308 F1=6E.303 F2=6F.300 F3=6F.301 F4=6F.302
F5=6F.303 F6=6F.308 F9=75.300 FA=75.301 FB=75.302 FC=75.308 FD=79.301 FF=79.308 100=41.304
101=61.304 102=41.306 103=61.306 104=41.328 105=61.328 106=43.301 107=63.301 108=43.302 109=63.302
10A=43.307 10B=63.307 10C=43.30C 10D=63.30C 10E=44.30C 10F=64.30C 112=45.304 113=65.304 114=45.306
115=65.306 116=45.307 117=65.307 118=45.328 119=65.328 11A=45.30C 11B=65.30C 11C=47.302 11D=67.302
11E=47.306 11F=67.306 120=47.307 121=67.307 122=47.327 123=67.327 124=48.302 125=68.302 128=49.303
129=69.303 12A=49.304 12B=69.304 12C=49.306 12D=69.306 12E=49.328 12F=69.328 130=49.307 134=4A.302
135=6A.302 136=4B.327 137=6B.327 139=4C.301 13A=6C.301 13B=4C.327 13C=6C.327 13D=4C.30C 13E=6C.30C
143=4E.301 144=6E.301 145=4E.327 146=6E.327 147=4E.30C 148=6E.30C 14C=4F.304 14D=6F.304 14E=4F.306
14F=6F.306 150=4F.30B 151=6F.30B 154=52.301 155=72.301 156=52.327 157=72.327 158=52.30C 159=72.30C
15A=53.301 15B=73.301 15C=53.302 15D=73.302 15E=53.327 15F=73.327 160=53.30C 161=73.30C 162=54.327
163=74.327 164=54.30C 165=74.30C 168=55.303 169=75.303 16A=55.304 16B=75.304 16C=55.306 16D=75.306
16E=55.30A 16F=75.30A 170=55.30B 171=75.30B 172=55.328 173=75.328 174=57.302 175=77.302 176=59.302
177=79.302 178=59.308 179=5A.301 17A=7A.301 17B=5A.307 17C=7A.307 17D=5A.30C 17E=7A.30C 1A0=4F.31B
1A1=6F.31B 1AF=55.31B 1B0=75.31B 1CD=41.30C 1CE=61.30C 1CF=49.30C 1D0=69.30C 1D1=4F.30C 1D2=6F.30C
1D3=55.30C 1D4=75.30C 1D5=55.308.304 1D6=75.308.304 1D7=55.308.301 1D8=75.308.301 1D9=55.308.30C
1DA=75.308.30C 1DB=55.308.300 1DC=75.308.300 1DE=41.308.304 1DF=61.308.304 1E0=41.307.304
1E1=61.307.304 1E2=C6.304 1E3=E6.304 1E6=47.30C 1E7=67.30C 1E8=4B.30C 1E9=6B.30C 1EA=4F.328
1EB=6F.328 1EC=4F.328.304 1ED=6F.328.304 1EE=1B7.30C 1EF=292.30C 1F0=6A.30C 1F4=47.301 1F5=67.301
1F8=4E.300 1F9=6E.300 1FA=41.30A.301 1FB=61.30A.301 1FC=C6.301 1FD=E6.301 1FE=D8.301 1FF=F8.301
200=41.30F 201=61.30F 202=41.311 203=61.311 204=45.30F 205=65.30F 206=45.311 207=65.311 208=49.30F
209=69.30F 20A=49.311 20B=69.311 20C=4F.30F 20D=6F.30F 20E=4F.311 20F=6F.311 210=52.30F 211=72.30F
212=52.311 213=72.311 214=55.30F 215=75.30F 216=55.311 217=75.311 218=53.326 219=73.326 21A=54.326
21B=74.326 21E=48.30C 21F=68.30C 226=41.307 227=61.307 228=45.327 229=65.327 22A=4F.308.304
22B=6F.308.304 22C=4F.303.304 22D=6F.303.304 22E=4F.307 22F=6F.307 230=4F.307.304 231=6F.307.304
232=59.304 233=79.304 340-341~40 343~30 344=308.301 374~BB 37E~343 385=A8.301 386=391.301 387~2D0
388=395.301 389=397.301 38A=399.301 38C=39F.301 38E=3A5.301 38F=3A9.301 390=3B9.308.301
3AA=399.308 3AB=3A5.308 3AC=3B1.301 3AD=3B5.301 3AE=3B7.301 3AF=3B9.301 3B0=3C5.308.301
3CA=3B9.308 3CB=3C5.308 3CC=3BF.301 3CD=3C5.301 3CE=3C9.301 3D3=3D2.301 3D4=3D2.308 400=415.300
401=415.308 403=413.301 407=406.308 40C=41A.301 40D=418.300 40E=423.306 419=418.306 439=438.306
450=435.300 451=435.308 453=433.301 457=456.308 45C=43A.301 45D=438.300 45E=443.306 476=474.30F
477=475.30F 4C1=416.306 4C2=436.306 4D0=410.306 4D1=430.306 4D2=410.308 4D3=430.308 4D6=415.306
4D7=435.306 4DA=4D8.308 4DB=4D9.308 4DC=416.308 4DD=436.308 4DE=417.308 4DF=437.308 4E2=418.304
4E3=438.304 4E4=418.308 4E5=438.308 4E6=41E.308 4E7=43E.308 4EA=4E8.308 4EB=4E9.308 4EC=42D.308
4ED=44D.308 4EE=423.304 4EF=443.304 4F0=423.308 4F1=443.308 4F2=423.30B 4F3=443.30B 4F4=427.308
4F5=447.308 4F8=42B.308 4F9=44B.308 622=627.653 623=627.654 624=648.654 625=627.655 626=64A.654
6C0=6D5.654 6C2=6C1.654 6D3=6D2.654 929=928.93C 931=930.93C 934=933.93C 958=915.93C 959=916.93C
95A=917.93C 95B=91C.93C 95C=921.93C 95D=922.93C 95E=92B.93C 95F=92F.93C 9CB=9C7.9BE 9CC=9C7.9D7
9DC=9A1.9BC 9DD=9A2.9BC 9DF=9AF.9BC A33=A32.A3C A36=A38.A3C A59=A16.A3C A5A=A17.A3C A5B=A1C.A3C
A5E=A2B.A3C B48=B47.B56 B4B=B47.B3E B4C=B47.B57 B5C=B21.B3C B5D=B22.B3C B94=B92.BD7 BCA=BC6.BBE
BCB=BC7.BBE BCC=BC6.BD7 C48=C46.C56 CC0=CBF.CD5 CC7=CC6.CD5 CC8=CC6.CD6 CCA=CC6.CC2
CCB=CC6.CC2.CD5 D4A=D46.D3E D4B=D47.D3E D4C=D46.D57 DDA=DD9.DCA DDC=DD9.DCF DDD=DD9.DCF.DCA
DDE=DD9.DDF F43=F42.FB7 F4D=F4C.FB7 F52=F51.FB7 F57=F56.FB7 F5C=F5B.FB7 F69=F40.FB5 F73=F71.F72
F75=F71.F74 F76=FB2.F80 F78=FB3.F80 F81=F71.F80 F93=F92.FB7 F9D=F9C.FB7 FA2=FA1.FB7 FA7=FA6.FB7
FAC=FAB.FB7 FB9=F90.FB5 1026=1025.102E 1B06=1B05.1B35 1B08=1B07.1B35 1B0A=1B09.1B35 1B0C=1B0B.1B35
1B0E=1B0D.1B35 1B12=1B11.1B35 1B3B=1B3A.1B35 1B3D=1B3C.1B35 1B40=1B3E.1B35 1B41=1B3F.1B35
1B43=1B42.1B35 1E00=41.325 1E01=61.325 1E02=42.307 1E03=62.307 1E04=42.323 1E05=62.323 1E06=42.331
1E07=62.331 1E08=43.327.301 1E09=63.327.301 1E0A=44.307 1E0B=64.307 1E0C=44.323 1E0D=64.323
1E0E=44.331 1E0F=64.331 1E10=44.327 1E11=64.327 1E12=44.32D 1E13=64.32D 1E14=45.304.300
1E15=65.304.300 1E16=45.304.301 1E17=65.304.301 1E18=45.32D 1E19=65.32D 1E1A=45.330 1E1B=65.330
1E1C=45.327.306 1E1D=65.327.306 1E1E=46.307 1E1F=66.307 1E20=47.304 1E21=67.304 1E22=48.307
1E23=68.307 1E24=48.323 1E25=68.323 1E26=48.308 1E27=68.308 1E28=48.327 1E29=68.327 1E2A=48.32E
1E2B=68.32E 1E2C=49.330 1E2D=69.330 1E2E=49.308.301 1E2F=69.308.301 1E30=4B.301 1E31=6B.301
1E32=4B.323 1E33=6B.323 1E34=4B.331 1E35=6B.331 1E36=4C.323 1E37=6C.323 1E38=4C.323.304
1E39=6C.323.304 1E3A=4C.331 1E3B=6C.331 1E3C=4C.32D 1E3D=6C.32D 1E3E=4D.301 1E3F=6D.301
1E40=4D.307 1E41=6D.307 1E42=4D.323 1E43=6D.323 1E44=4E.307 1E45=6E.307 1E46=4E.323 1E47=6E.323
1E48=4E.331 1E49=6E.331 1E4A=4E.32D 1E4B=6E.32D 1E4C=4F.303.301 1E4D=6F.303.301 1E4E=4F.303.308
1E4F=6F.303.308 1E50=4F.304.300 1E51=6F.304.300 1E52=4F.304.301 1E53=6F.304.301 1E54=50.301
1E55=70.301 1E56=50.307 1E57=70.307 1E58=52.307 1E59=72.307 1E5A=52.323 1E5B=72.323
1E5C=52.323.304 1E5D=72.323.304 1E5E=52.331 1E5F=72.331 1E60=53.307 1E61=73.307 1E62=53.323
1E63=73.323 1E64=53.301.307 1E65=73.301.307 1E66=53.30C.307 1E67=73.30C.307 1E68=53.323.307
1E69=73.323.307 1E6A=54.307 1E6B=74.307 1E6C=54.323 1E6D=74.323 1E6E=54.331 1E6F=74.331
1E70=54.32D 1E71=74.32D 1E72=55.324 1E73=75.324 1E74=55.330 1E75=75.330 1E76=55.32D 1E77=75.32D
1E78=55.303.301 1E79=75.303.301 1E7A=55.304.308 1E7B=75.304.308 1E7C=56.303 1E7D=76.303
1E7E=56.323 1E7F=76.323 1E80=57.300 1E81=77.300 1E82=57.301 1E83=77.301 1E84=57.308 1E85=77.308
1E86=57.307 1E87=77.307 1E88=57.323 1E89=77.323 1E8A=58.307 1E8B=78.307 1E8C=58.308 1E8D=78.308
1E8E=59.307 1E8F=79.307 1E90=5A.302 1E91=7A.302 1E92=5A.323 1E93=7A.323 1E94=5A.331 1E95=7A.331
1E96=68.331 1E97=74.308 1E98=77.30A 1E99=79.30A 1E9B=17F.307 1EA0=41.323 1EA1=61.323 1EA2=41.309
1EA3=61.309 1EA4=41.302.301 1EA5=61.302.301 1EA6=41.302.300 1EA7=61.302.300 1EA8=41.302.309
1EA9=61.302.309 1EAA=41.302.303 1EAB=61.302.303 1EAC=41.323.302 1EAD=61.323.302 1EAE=41.306.301
1EAF=61.306.301 1EB0=41.306.300 1EB1=61.306.300 1EB2=41.306.309 1EB3=61.306.309 1EB4=41.306.303
1EB5=61.306.303 1EB6=41.323.306 1EB7=61.323.306 1EB8=45.323 1EB9=65.323 1EBA=45.309 1EBB=65.309
1EBC=45.303 1EBD=65.303 1EBE=45.302.301 1EBF=65.302.301 1EC0=45.302.300 1EC1=65.302.300
1EC2=45.302.309 1EC3=65.302.309 1EC4=45.302.303 1EC5=65.302.303 1EC6=45.323.302 1EC7=65.323.302
1EC8=49.309 1EC9=69.309 1ECA=49.323 1ECB=69.323 1ECC=4F.323 1ECD=6F.323 1ECE=4F.309 1ECF=6F.309
1ED0=4F.302.301 1ED1=6F.302.301 1ED2=4F.302.300 1ED3=6F.302.300 1ED4=4F.302.309 1ED5=6F.302.309
1ED6=4F.302.303 1ED7=6F.302.303 1ED8=4F.323.302 1ED9=6F.323.302 1EDA=4F.31B.301 1EDB=6F.31B.301
1EDC=4F.31B.300 1EDD=6F.31B.300 1EDE=4F.31B.309 1EDF=6F.31B.309 1EE0=4F.31B.303 1EE1=6F.31B.303
1EE2=4F.31B.323 1EE3=6F.31B.323 1EE4=55.323 1EE5=75.323 1EE6=55.309 1EE7=75.309 1EE8=55.31B.301
1EE9=75.31B.301 1EEA=55.31B.300 1EEB=75.31B.300 1EEC=55.31B.309 1EED=75.31B.309 1EEE=55.31B.303
1EEF=75.31B.303 1EF0=55.31B.323 1EF1=75.31B.323 1EF2=59.300 1EF3=79.300 1EF4=59.323 1EF5=79.323
1EF6=59.309 1EF7=79.309 1EF8=59.303 1EF9=79.303 1F00=3B1.313 1F01=3B1.314 1F02=3B1.313.300
1F03=3B1.314.300 1F04=3B1.313.301 1F05=3B1.314.301 1F06=3B1.313.342 1F07=3B1.314.342 1F08=391.313
1F09=391.314 1F0A=391.313.300 1F0B=391.314.300 1F0C=391.313.301 1F0D=391.314.301 1F0E=391.313.342
1F0F=391.314.342 1F10=3B5.313 1F11=3B5.314 1F12=3B5.313.300 1F13=3B5.314.300 1F14=3B5.313.301
1F15=3B5.314.301 1F18=395.313 1F19=395.314 1F1A=395.313.300 1F1B=395.314.300 1F1C=395.313.301
1F1D=395.314.301 1F20=3B7.313 1F21=3B7.314 1F22=3B7.313.300 1F23=3B7.314.300 1F24=3B7.313.301
1F25=3B7.314.301 1F26=3B7.313.342 1F27=3B7.314.342 1F28=397.313 1F29=397.314 1F2A=397.313.300
1F2B=397.314.300 1F2C=397.313.301 1F2D=397.314.301 1F2E=397.313.342 1F2F=397.314.342 1F30=3B9.313
1F31=3B9.314 1F32=3B9.313.300 1F33=3B9.314.300 1F34=3B9.313.301 1F35=3B9.314.301 1F36=3B9.313.342
1F37=3B9.314.342 1F38=399.313 1F39=399.314 1F3A=399.313.300 1F3B=399.314.300 1F3C=399.313.301
1F3D=399.314.301 1F3E=399.313.342 1F3F=399.314.342 1F40=3BF.313 1F41=3BF.314 1F42=3BF.313.300
1F43=3BF.314.300 1F44=3BF.313.301 1F45=3BF.314.301 1F48=39F.313 1F49=39F.314 1F4A=39F.313.300
1F4B=39F.314.300 1F4C=39F.313.301 1F4D=39F.314.301 1F50=3C5.313 1F51=3C5.314 1F52=3C5.313.300
1F53=3C5.314.300 1F54=3C5.313.301 1F55=3C5.314.301 1F56=3C5.313.342 1F57=3C5.314.342 1F59=3A5.314
1F5B=3A5.314.300 1F5D=3A5.314.301 1F5F=3A5.314.342 1F60=3C9.313 1F61=3C9.314 1F62=3C9.313.300
1F63=3C9.314.300 1F64=3C9.313.301 1F65=3C9.314.301 1F66=3C9.313.342 1F67=3C9.314.342 1F68=3A9.313
1F69=3A9.314 1F6A=3A9.313.300 1F6B=3A9.314.300 1F6C=3A9.313.301 1F6D=3A9.314.301 1F6E=3A9.313.342
1F6F=3A9.314.342 1F70=3B1.300 1F71=3B1.301 1F72=3B5.300 1F73=3B5.301 1F74=3B7.300 1F75=3B7.301
1F76=3B9.300 1F77=3B9.301 1F78=3BF.300 1F79=3BF.301 1F7A=3C5.300 1F7B=3C5.301 1F7C=3C9.300
1F7D=3C9.301 1F80=3B1.313.345 1F81=3B1.314.345 1F82=3B1.313.300.345 1F83=3B1.314.300.345
1F84=3B1.313.301.345 1F85=3B1.314.301.345 1F86=3B1.313.342.345 1F87=3B1.314.342.345
1F88=391.313.345 1F89=391.314.345 1F8A=391.313.300.345 1F8B=391.314.300.345 1F8C=391.313.301.345
1F8D=391.314.301.345 1F8E=391.313.342.345 1F8F=391.314.342.345 1F90=3B7.313.345 1F91=3B7.314.345
1F92=3B7.313.300.345 1F93=3B7.314.300.345 1F94=3B7.313.301.345 1F95=3B7.314.301.345
1F96=3B7.313.342.345 1F97=3B7.314.342.345 1F98=397.313.345 1F99=397.314.345 1F9A=397.313.300.345
1F9B=397.314.300.345 1F9C=397.313.301.345 1F9D=397.314.301.345 1F9E=397.313.342.345
1F9F=397.314.342.345 1FA0=3C9.313.345 1FA1=3C9.314.345 1FA2=3C9.313.300.345 1FA3=3C9.314.300.345
1FA4=3C9.313.301.345 1FA5=3C9.314.301.345 1FA6=3C9.313.342.345 1FA7=3C9.314.342.345
1FA8=3A9.313.345 1FA9=3A9.314.345 1FAA=3A9.313.300.345 1FAB=3A9.314.300.345 1FAC=3A9.313.301.345
1FAD=3A9.314.301.345 1FAE=3A9.313.342.345 1FAF=3A9.314.342.345 1FB0=3B1.306 1FB1=3B1.304
1FB2=3B1.300.345 1FB3=3B1.345 1FB4=3B1.301.345 1FB6=3B1.342 1FB7=3B1.342.345 1FB8=391.306
1FB9=391.304 1FBA=391.300 1FBB=391.301 1FBC=391.345 1FBE~1C05 1FC1=A8.342 1FC2=3B7.300.345
1FC3=3B7.345 1FC4=3B7.301.345 1FC6=3B7.342 1FC7=3B7.342.345 1FC8=395.300 1FC9=395.301 1FCA=397.300
1FCB=397.301 1FCC=397.345 1FCD=1FBF.300 1FCE=1FBF.301 1FCF=1FBF.342 1FD0=3B9.306 1FD1=3B9.304
1FD2=3B9.308.300 1FD3=3B9.308.301 1FD6=3B9.342 1FD7=3B9.308.342 1FD8=399.306 1FD9=399.304
1FDA=399.300 1FDB=399.301 1FDD=1FFE.300 1FDE=1FFE.301 1FDF=1FFE.342 1FE0=3C5.306 1FE1=3C5.304
1FE2=3C5.308.300 1FE3=3C5.308.301 1FE4=3C1.313 1FE5=3C1.314 1FE6=3C5.342 1FE7=3C5.308.342
1FE8=3A5.306 1FE9=3A5.304 1FEA=3A5.300 1FEB=3A5.301 1FEC=3A1.314 1FED=A8.300 1FEE=A8.301 1FEF~1F8F
1FF2=3C9.300.345 1FF3=3C9.345 1FF4=3C9.301.345 1FF6=3C9.342 1FF7=3C9.342.345 1FF8=39F.300
1FF9=39F.301 1FFA=3A9.300 1FFB=3A9.301 1FFC=3A9.345 1FFD~1F49 2000-2001+2 2126~1D7D 212A~20DF
212B=41.30A 219A=2190.338 219B=2192.338 21AE=2194.338 21CD=21D0.338 21CE=21D4.338 21CF=21D2.338
2204=2203.338 2209=2208.338 220C=220B.338 2224=2223.338 2226=2225.338 2241=223C.338 2244=2243.338
2247=2245.338 2249=2248.338 2260=3D.338 2262=2261.338 226D=224D.338 226E=3C.338 226F=3E.338
2270=2264.338 2271=2265.338 2274=2272.338 2275=2273.338 2278=2276.338 2279=2277.338 2280=227A.338
2281=227B.338 2284=2282.338 2285=2283.338 2288=2286.338 2289=2287.338 22AC=22A2.338 22AD=22A8.338
22AE=22A9.338 22AF=22AB.338 22E0=227C.338 22E1=227D.338 22E2=2291.338 22E3=2292.338 22EA=22B2.338
22EB=22B3.338 22EC=22B4.338 22ED=22B5.338 2329-232A+CDF 2ADC=2ADD.338 304C=304B.3099
304E=304D.3099 3050=304F.3099 3052=3051.3099 3054=3053.3099 3056=3055.3099 3058=3057.3099
305A=3059.3099 305C=305B.3099 305E=305D.3099 3060=305F.3099 3062=3061.3099 3065=3064.3099
3067=3066.3099 3069=3068.3099 3070=306F.3099 3071=306F.309A 3073=3072.3099 3074=3072.309A
3076=3075.3099 3077=3075.309A 3079=3078.3099 307A=3078.309A 307C=307B.3099 307D=307B.309A
3094=3046.3099 309E=309D.3099 30AC=30AB.3099 30AE=30AD.3099 30B0=30AF.3099 30B2=30B1.3099
30B4=30B3.3099 30B6=30B5.3099 30B8=30B7.3099 30BA=30B9.3099 30BC=30BB.3099 30BE=30BD.3099
30C0=30BF.3099 30C2=30C1.3099 30C5=30C4.3099 30C7=30C6.3099 30C9=30C8.3099 30D0=30CF.3099
30D1=30CF.309A 30D3=30D2.3099 30D4=30D2.309A 30D6=30D5.3099 30D7=30D5.309A 30D9=30D8.3099
30DA=30D8.309A 30DC=30DB.3099 30DD=30DB.309A 30F4=30A6.3099 30F7=30EF.3099 30F8=30F0.3099
30F9=30F1.3099 30FA=30F2.3099 30FE=30FD.3099 F900~6CB8 F901~920D F902~6A38 F903~6C3B F904~8A33
F905~AAD3 F906~A521 F907~596B F908~596C F909~9FB8 F90A~6739 F90B~A384 F90C~9FC4 F90D~9717
F90E~82A5 F90F~798A F910~72D1 F911~7157 F912~701A F913~6884 F914~8F12 F915~8BFA F916~883D
F917~8539 F918~74DB F919~67AF F91A~5F29 F91B~AA99 F91C~A5A7 F91D~8E19 F91E~8703 F91F~72F2
F920~5B02 F921~9BD1 F922~8937 F923~7356 F924~6FC0 F925~965C F926~774E F927~7108 F928~9A5E
F929~9212 F92A~8BC0 F92B~862F F92C~685E F92D~A9A7 F92E~A777 F92F~A651 F930~946C F931~8E5E
F932~8722 F933~824C F934~7933 F935~732F F936~72DA F937~6B48 F938~6206 F939~5DCA F93A~5B40
F93B~80AF F93C~7FBD F93D~7B9D F93E~7575 F93F~663B F940~5AC1 F941~6E6B F942~A063 F943~9A3F
F944~7CE4 F945~78C7 F946~86E4 F947~807D F948~6C86 F949~6252 F94A~A072 F94B~9CE9 F94C~8F39
F94D~8B73 F94E~8A3F F94F~7C20 F950~7B19 F951~6306 F952~A680 F953~78C8 F954~A778 F955~A789
F956~7F3A F957~7B99 F958~7567 F959~62E4 F95A~6DDA F95B~968C F95C~8F5A F95D~6E5F F95E~AB25
F95F~9D78 F960~994E F961~85DA F962~83F2 F963~A64C F964~8069 F965~A9A6 F966~99BD F967~AB5A
F968~8C9C F969~93F1 F96A~7C48 F96B~A5A8 F96C~A10E F96D~826C F96E~7525 F96F~6EC5 F970~8DB6
F971~69C1 F972~8CEA F973~9675 F974~768F F975~95D5 F976~8411 F977~AAC9 F978~A80F F979~A7B0
F97A~90F9 F97B~7C94 F97C~770D F97D~6EAB F97E~67AF F97F~A68A F980~A53E F981~A00E F982~9A96
F983~93BE F984~8986 F985~805B F986~63D9 F987~5F1D F988~5AF1 F989~5ABB F98A~A6EF F98B~92C5
F98C~8E15 F98D~6A2B F98E~9B1A F98F~97FF F990~9790 F991~94F7 F992~8A6F F993~884A F994~850B
F995~7FCB F996~7BA2 F997~7928 F998~6A72 F999~74AB F99A~6977 F99B~6651 F99C~A785 F99D~A6FA
F99E~A4E1 F99F~88D7 F9A0~70DE F9A1~6EF7 F9A2~9AD9 F9A3~99AE F9A4~9629 F9A5~8DF7 F9A6~7D68
F9A7~8632 F9A8~AAC4 F9A9~A2B0 F9AA~9DC3 F9AB~9BF1 F9AC~9990 F9AD~85FB F9AE~8545 F9AF~7A15
F9B0~796A F9B1~677D F9B2~62BC F9B3~626B F9B4~619C F9B5~AA2A F9B6~8008 F9B7~6803 F9B8~6300
F9B9~98D8 F9BA~AB34 F9BB~A8E1 F9BC~9DCE F9BD~9D7E F9BE~9425 F9BF~8FBD F9C0~87F2 F9C1~837F
F9C2~74C6 F9C3~6947 F9C4~5A37 F9C5~933D F9C6~6398 F9C7~A73E F9C8~924D F9C9~91D6 F9CA~8C89
F9CB~8B2F F9CC~85C3 F9CD~8474 F9CE~8163 F9CF~7CBF F9D0~6172 F9D1~A864 F9D2~97A4 F9D3~635B
F9D4~A9A9 F9D5~9CBC F9D6~8BEC F9D7~6AAD F9D8~9A4D F9D9~9895 F9DA~91C3 F9DB~8654 F9DC~6356
F9DD~A7B4 F9DE~A5CF F9DF~9D7A F9E0~93CD F9E1~9293 F9E2~913A F9E3~8CFE F9E4~85DE F9E5~8403
F9E6~7A6D F9E7~7118 F9E8~7107 F9E9~681D F9EA~6308 F9EB~A6AC F9EC~8B32 F9ED~A5D0 F9EE~881E
F9EF~8557 F9F0~73F6 F9F1~634E F9F2~5D9B F9F3~5B54 F9F4~925D F9F5~8C2A F9F6~780E F9F7~7F2C
F9F8~7ED8 F9F9~7D67 F9FA~873A F9FB~8962 F9FC~6EA4 F9FD~AB3D F9FE~76C8 F9FF~A7C5 FA00~A7F9
FA01~9B5B FA02~972F FA03~7D2D FA04~9E7F FA05~8CE7 FA06~9352 FA07~6ACC FA08~71BC FA09~63BC
FA0A~707F FA0B~9B38 FA0C~A8CC FA0D~A44D FA10~A1B6 FA12~939E FA15~A837 FA16~86EC FA17~834D
FA18~80DC FA19~80BB FA1A~80B5 FA1B~808C FA1C~62C6 FA1D~7D5F FA1E~7A61 FA20~740E FA22~6F2A
FA25~69ED FA26~6929 FA2A~613B FA2B~612F FA2C~6104 FA2D~5C79 FA2E~6950 FA2F~6378 FA30~AA82
FA31~A94A FA32~A8E5 FA33~A76A FA34~A750 FA35~A6E4 FA36~A499 FA37~A431 FA38~A3D0 FA39~A1F9
FA3A~A192 FA3B~9DD7 FA3C~9DCE FA3D~99A9 FA3E~98D6 FA3F~98B1 FA40~984E FA41~94F2 FA42~9460
FA43~93B2 FA44~91BF FA45~8CCE FA46~8C2C FA47~8B25 FA48~88DA FA49~881E FA4A~8628 FA4B~81BA
FA4C~810E FA4D~8104 FA4E~8106 FA4F~80FF FA50~80FA FA51~80F4 FA52-FA53~80C5 FA54~8014 FA55~7FD4
FA56~7E96 FA57~7C63 FA58~7C4F FA59~7C18 FA5A~7AE8 FA5B~7A56 FA5C~786F FA5D~77E4 FA5E~77E5
FA5F~7608 FA60~7150 FA61~70CB FA62~6F61 FA63~6F2A FA64~6D91 FA65~6D5D FA66~6AB0 FA67~6A2F
FA68~6385 FA69~626A FA6A~622F FA6B~99F6 FA6C+14882 FA6D~7855 FA70~AC4A FA71~A8BC FA72~A90A
FA73~AAF3 FA74~A92F FA75~A8F5 FA76~A7AF FA77~A77D FA78~A4DB FA79~A524 FA7A~A4E1 FA7B~A499
FA7C~A222 FA7D~A1CA FA7E~A13A FA7F~A12B FA80~A01E FA81~9F59 FA82~9BB0 FA83~9BAA FA84~9B1B
FA85~9AD8 FA86~99AE FA87~9939 FA88~9980 FA89~98FB FA8A~992A FA8B~9899 FA8C~9858 FA8D~96C9
FA8E~9672 FA8F~963D FA90~953A FA91~941D FA92~937B FA93~9378 FA94~933E FA95~8F1C FA96~8EDC
FA97~8D56 FA98~8BBD FA99~8BCE FA9A~8B78 FA9B~8A7D FA9C~892E FA9D~82F6 FA9E~8869 FA9F~87F0
FAA0~8776 FAA1~8630 FAA2~859C FAA3~8568 FAA4~8487 FAA5~8486 FAA6~83DC FAA7~83CC FAA8~83B4
FAA9~835F FAAA~836A FAAB~81DF FAAC~7FFB FAAD~7EED FAAE~7E33 FAAF~7D54 FAB0~7CBC FAB1~7B73
FAB2~7AAD FAB3~7761 FAB4~76C5 FAB5~733C FAB6~7175 FAB7~7131 FAB8~7122 FAB9~6FFA FABA~6FC2
FABB~6FF0 FABC~6FBB FABD~6FBF FABE~6FD1 FABF~6F86 FAC0~6F36 FAC1~6DB9 FAC2~6B8A FAC3~6A51
FAC4~692B FAC5~684F FAC6~644A FAC7~63E4 FAC8~6372 FAC9~62EE FACA~62CB FACB~62C0 FACC~6291
FACD~5FBB FACE~5B32 FACF+12D7B FAD0+12D74 FAD1+13904 FAD2~BF35 FAD3~BABB FAD4~BA9B FAD5+15774
FAD6+161FA FAD7+183FC FAD8~5B95 FAD9~5B4B FB1D=5D9.5B4 FB1F=5F2.5B7 FB2A=5E9.5C1 FB2B=5E9.5C2
FB2C=5E9.5BC.5C1 FB2D=5E9.5BC.5C2 FB2E=5D0.5B7 FB2F=5D0.5B8 FB30=5D0.5BC FB31=5D1.5BC FB32=5D2.5BC
FB33=5D3.5BC FB34=5D4.5BC FB35=5D5.5BC FB36=5D6.5BC FB38=5D8.5BC FB39=5D9.5BC FB3A=5DA.5BC
FB3B=5DB.5BC FB3C=5DC.5BC FB3E=5DE.5BC FB40=5E0.5BC FB41=5E1.5BC FB43=5E3.5BC FB44=5E4.5BC
FB46=5E6.5BC FB47=5E7.5BC FB48=5E8.5BC FB49=5E9.5BC FB4A=5EA.5BC FB4B=5D5.5B9 FB4C=5D1.5BF
FB4D=5DB.5BF FB4E=5E4.5BF 105C9=105D2.307 105E4=105DA.307 1109A=11099.110BA 1109C=1109B.110BA
110AB=110A5.110BA 1112E=11131.11127 1112F=11132.11127 1134B=11347.1133E 1134C=11347.11357
11383=11382.113C9 11385=11384.113BB 1138E=1138B.113C2 11391=11390.113C9 113C5=113C2.113C2
113C7=113C2.113B8 113C8=113C2.113C9 114BB=114B9.114BA 114BC=114B9.114B0 114BE=114B9.114BD
115BA=115B8.115AF 115BB=115B9.115AF 11938=11935.11930 16121=1611E.1611E 16122=1611E.16129
16123=1611E.1611F 16124=16129.1611F 16125=1611E.16120 16126=1611E.1611E.1611F
16127=1611E.16129.1611F 16128=1611E.1611E.16120 16D68=16D67.16D67 16D69=16D63.16D67
16D6A=16D63.16D67.16D67 1D15E=1D157.1D165 1D15F=1D158.1D165 1D160=1D158.1D165.1D16E
1D161=1D158.1D165.1D16F 1D162=1D158.1D165.1D170 1D163=1D158.1D165.1D171 1D164=1D158.1D165.1D172
1D1BB=1D1B9.1D165 1D1BC=1D1BA.1D165 1D1BD=1D1B9.1D165.1D16E 1D1BE=1D1BA.1D165.1D16E
1D1BF=1D1B9.1D165.1D16F 1D1C0=1D1BA.1D165.1D16F 2F800~2A9C3 2F801~2A9C9 2F802~2A9C1 2F803~F6E1
2F804~2A8A4 2F805~2A857 2F806~2A84B 2F807~2A805 2F808~2A78E 2F809~2A770 2F80A~2A723 2F80B~2A73C
2F80C~2C36E 2F80D~F1D3 2F80E~2A6C1 2F80F~2A6BB 2F810~2A6AC 2F811~2A69A 2F812~F2F6 2F813~2C35A
2F814~2A6AD 2F815~2A688 2F816~F2CB 2F817~2A680 2F818~2A674 2F819~2A94D 2F81A~2A66E 2F81B~2A666
2F81C~663D 2F81D~2A628 2F81E~2A61B 2F81F~2C340 2F820~2A5E5 2F821~2A5DB 2F822~2A5B0 2F823~2A5AC
2F824~2C30F 2F825~2A55E 2F826~2A55D 2F827~2A543 2F828~2A52E 2F829-2F82A~2A524 2F82B~2A514
2F82C~2A4E3 2F82D~2A4DC 2F82E~2A4D4 2F82F~2A4BC 2F830~2A4B3 2F831~2A4B2 2F832~2A4B3 2F833~2A4B4
2F834~EE08 2F835~287C5 2F836~2A46C 2F837~2A458 2F838~ECD5 2F839~2A44E 2F83A~2A449 2F83B~2A435
2F83C~2A39E 2F83D~2A405 2F83E~2A3F6 2F83F~2A3D7 2F840~2A39E 2F841~2A34B 2F842~2A332 2F843~2A2F0
2F844~2A2E1 2F845~2A2C1 2F846~2A2C2 2F847~2A2AE 2F848~2A29D 2F849~2A296 2F84A~2A288 2F84B~2A135
2F84C~2A246 2F84D~2A136 2F84E~2A1FD 2F84F~2A1DB 2F850~2A649 2F851~29F63 2F852~2A084 2F853~2A05F
2F854~2A047 2F855~2A0CA 2F856~2A024 2F857~2A026 2F858~29FAC 2F859~E375 2F85A~29F68 2F85B~29F64
2F85C~29F56 2F85D~29F43 2F85E~29F3C 2F85F~29EFD 2F860~E1B8 2F861~E177 2F862~29E76 2F863~29E48
2F864~29E3D 2F865~29E8D 2F866~29E00 2F867~2C179 2F868~2C16C 2F869~29D61 2F86A~29D2C 2F86B~29D2D
2F86C~DEA4 2F86D~29CAA 2F86E~29C96 2F86F~29C88 2F870~29C7D 2F871~DD59 2F872~29C73 2F873~29C6D
2F874~29921 2F875~29C53 2F876~2C0F5 2F877~29C17 2F878~29C0A 2F879~29BB9 2F87A~29BED 2F87B~DA97
2F87C~29B39 2F87D~DA97 2F87E~29B10 2F87F~29B14 2F880~29B04 2F881-2F882~29AA0 2F883~2C054
2F884~29A87 2F885~29A5D 2F886~29A49 2F887~29A1E 2F888~2C026 2F889~D706 2F88A~2C00E 2F88B~299DB
2F88C~299D9 2F88D~299D7 2F88E~299C4 2F88F~54FD 2F890~29992 2F891~D560 2F892~D561 2F893~27692
2F894~29972 2F895~29973 2F896~2BFCF 2F897~C5DF 2F898~96BE 2F899~29937 2F89A~2992F 2F89B~2BFB8
2F89C~29902 2F89D~298D0 2F89E~298C7 2F89F~298A6 2F8A0~2981F 2F8A1~2BF67 2F8A2~2BF86 2F8A3~2980F
2F8A4~D1D0 2F8A5~297DE 2F8A6~2975E 2F8A7~2975B 2F8A8~2975A 2F8A9~2975D 2F8AA~29730 2F8AB~2971D
2F8AC~296FA 2F8AD~29709 2F8AE~296FF 2F8AF~296D1 2F8B0~296BE 2F8B1~296BB 2F8B2~296A2 2F8B3~29698
2F8B4~29657 2F8B5~29604 2F8B6~295E2 2F8B7~29567 2F8B8~CDAC 2F8B9~2957C 2F8BA~295BE 2F8BB~29553
2F8BC~29539 2F8BD~294D9 2F8BE~CCCD 2F8BF~2949D 2F8C0~294FB 2F8C1~29518 2F8C2~2BE94 2F8C3~2945A
2F8C4~29446 2F8C5~29428 2F8C6~2944F 2F8C7~2BE5B 2F8C8~29379 2F8C9~2935D 2F8CA~C8C0 2F8CB~292E8
2F8CC~291D4 2F8CD~29284 2F8CE~2BDB5 2F8CF~2923E 2F8D0~2BDC8 2F8D1~2BDED 2F8D2~2A740 2F8D3~2A73E
2F8D4~291D4 2F8D5~29239 2F8D6~27829 2F8D7~2B4FE 2F8D8~291C1 2F8D9~291BE 2F8DA~291B9 2F8DB~2917D
2F8DC~29189 2F8DD~C51A 2F8DE~2BD95 2F8DF~290E5 2F8E0~2915B 2F8E1~2908F 2F8E2~2905D 2F8E3~C476
2F8E4~29056 2F8E5~290C6 2F8E6~28FD2 2F8E7~2BD4A 2F8E8~28FA6 2F8E9~28F46 2F8EA~28F00 2F8EB~28E43
2F8EC~C249 2F8ED~28E12 2F8EE~2BCD6 2F8EF~28DCE 2F8F0~C049 2F8F1~28D9D 2F8F2~2BCA4 2F8F3~28D81
2F8F4~28D55 2F8F5-2F8F6~28D3B 2F8F7~BE6A 2F8F8~DBED 2F8F9~BDFF 2F8FA~28CAC 2F8FB~BC3F 2F8FC~28C3D
2F8FD~28C30 2F8FE~28C97 2F8FF~28BE9 2F900~28BC2 2F901~28B8A 2F902~28BC1 2F903~28B9A 2F904~28B8C
2F905~28B80 2F906~BBE8 2F907~28BD3 2F908~28AD9 2F909~28A9B 2F90A~2BBD7 2F90B~28A40 2F90C~28A45
2F90D~BA3C 2F90E~28B15 2F90F~289A1 2F910~B9B2 2F911~B983 2F912~2894C 2F913~288DA 2F914~288F6
2F915~288FA 2F916~2BB80 2F917~288CD 2F918~2889B 2F919~288A2 2F91A~2886D 2F91B~F3F6 2F91C~287D7
2F91D~B6BA 2F91E~28782 2F91F~B574 2F920~286F8 2F921~286EC 2F922~286D2 2F923~B31B 2F924~286A4
2F925~28690 2F926~B1F1 2F927~B113 2F928~285AE 2F929~2859E 2F92A~2BA7E 2F92B~28586 2F92C~2BA74
2F92D~2BA75 2F92E~284E7 2F92F~284D3 2F930~284BF 2F931~284AC 2F932~28468 2F933~2BA18 2F934~28410
2F935~ACFF 2F936~283F8 2F937~ACA5 2F938~283C8 2F939~D79A 2F93A~2832A 2F93B~A99A 2F93C~A984
2F93D~A8F9 2F93E~2B942 2F93F~2B937 2F940~2824C 2F941~A84E 2F942~A850 2F943~A82A 2F944~A811
2F945-2F946~28227 2F947~28228 2F948~281FE 2F949~2B910 2F94A~281BF 2F94B~2B905 2F94C~2B8B6
2F94D~A530 2F94E~28100 2F94F~280C3 2F950~28084 2F951~2B86E 2F952~A32C 2F953~27FFD 2F954~A2BA
2F955~A290 2F956~27FC7 2F957~27F6C 2F958~2B829 2F959~27F19 2F95A~27F10 2F95B~27F0C 2F95C~9FE0
2F95D~9EB6 2F95E~9EB7 2F95F~27E71 2F960~2B75E 2F961~9DB6 2F962~27D9C 2F963~27D9A 2F964~2B73D
2F965~9CE5 2F966~27C94 2F967~2B6C7 2F968~27C80 2F969~27C86 2F96A~27C6A 2F96B~99E5 2F96C~27C09
2F96D~2B66C 2F96E~27BA7 2F96F~27B6D 2F970~27B2B 2F971~2B63D 2F972~974A 2F973~972C 2F974~2B61B
2F975~969C 2F976~279FC 2F977~9639 2F978~279E3 2F979~2797F 2F97A~27975 2F97B~94A1 2F97C~9459
2F97D~2791D 2F97E~93D6 2F97F~2790F 2F980~C621 2F981~2B5AC 2F982~278D0 2F983~27880 2F984~2B579
2F985~27847 2F986~29ED1 2F987~91E0 2F988~91D3 2F989~C5F6 2F98A~C5EE 2F98B~2778A 2F98C~27788
2F98D~269EF 2F98E~2B523 2F98F~276FE 2F990~27705 2F991~276F4 2F992~2A6DF 2F993~276E2 2F994~276E1
2F995~276D8 2F996~276B0 2F997~8E5B 2F998~276B3 2F999~2767C 2F99A~27637 2F99B~275EE 2F99C~27679
2F99D~275E0 2F99E~275B7 2F99F~27548 2F9A0~2764D 2F9A1~275D7 2F9A2~275D6 2F9A3~275C7 2F9A4~8D6E
2F9A5~8C3A 2F9A6~8CD1 2F9A7~2B47C 2F9A8~274B7 2F9A9~274B6 2F9AA~27494 2F9AB~85E1 2F9AC~27448
2F9AD~8A81 2F9AE~2B451 2F9AF~2B44E 2F9B0~89FF 2F9B1~88DF 2F9B2~2B447 2F9B3~27363 2F9B4~27358
2F9B5~2734E 2F9B6~2734D 2F9B7~2730E 2F9B8~27330 2F9B9~272AB 2F9BA~272D8 2F9BB~27242 2F9BC~27294
2F9BD~27252 2F9BE~27238 2F9BF~2B3E8 2F9C0~271DF 2F9C1~271C0 2F9C2~2B3C9 2F9C3~27163 2F9C4~27161
2F9C5~835E 2F9C6~270EF 2F9C7~270E9 2F9C8~2B393 2F9C9~270CF 2F9CA~2C50F 2F9CB~811D 2F9CC~8066
2F9CD~2B30F 2F9CE~2B307 2F9CF~26F2F 2F9D0~26EE3 2F9D1~26E47 2F9D2~26D7D 2F9D3~7D2B 2F9D4~26D29
2F9D5~26D14 2F9D6~26CBB 2F9D7~26C60 2F9D8~7AA9 2F9D9~F1D5 2F9DA~26C0F 2F9DB~26C1F 2F9DC~26BEC
2F9DD~F0FF 2F9DE~26B0A 2F9DF~26AA7 2F9E0~740E 2F9E1~73F4 2F9E2~2694E 2F9E3~268F2 2F9E4~268D3
2F9E5~72B7 2F9E6~268CB 2F9E7~267AF 2F9E8-2F9E9~26711 2F9EA~2676E 2F9EB~265F2 2F9EC~265D7
2F9ED~6DF3 2F9EE~26463 2F9EF~2B05A 2F9F0~26439 2F9F1~6C7A 2F9F2~2B00C 2F9F3~26330 2F9F4~29C42
2F9F5~262D2 2F9F6~68B1 2F9F7~67DD 2F9F8~2AF8A 2F9F9~2AF83 2F9FA~2621A 2F9FB~65F1 2F9FC~2AF4A
2F9FD~6567 2F9FE~261F3 2F9FF~261F4 2FA00~261D7 2FA01~644B 2FA02~26120 2FA03~2AED0 2FA04~260DB
2FA05~2605E 2FA06~26044 2FA07~26009 2FA08~2AE3A 2FA09~5ED9 2FA0A~25EF8 2FA0B~25DCB 2FA0C~25D0F
2FA0D~2AD3F 2FA0E~2AD21 2FA0F~25CA8 2FA10~5942 2FA11~2AD19 2FA12~590D 2FA13~5805 2FA14~5783
2FA15~25B5A 2FA16~2ACC0 2FA17~25B1E 2FA18~25B1A 2FA19~25B14 2FA1A~25B0B 2FA1B~25B05 2FA1C~25AE1
2FA1D~541D"

def combiningClassTable : Table := .read "
300-314:230 315:232 316-319:220 31A:232 31B:216 31C-320:220 321-322:202 323-326:220 327-328:202
329-333:220 334-338:1 339-33C:220 33D-344:230 345:240 346:230 347-349:220 34A-34C:230 34D-34E:220
350-352:230 353-356:220 357:230 358:232 359-35A:220 35B:230 35C:233 35D-35E:234 35F:233
360-361:234 362:233 363-36F:230 483-487:230 591:220 592-595:230 596:220 597-599:230 59A:222
59B:220 59C-5A1:230 5A2-5A7:220 5A8-5A9:230 5AA:220 5AB-5AC:230 5AD:222 5AE:228 5AF:230 5B0:10
5B1:11 5B2:12 5B3:13 5B4:14 5B5:15 5B6:16 5B7:17 5B8:18 5B9-5BA:19 5BB:20 5BC:21 5BD:22 5BF:23
5C1:24 5C2:25 5C4:230 5C5:220 5C7:18 610-617:230 618:30 619:31 61A:32 64B:27 64C:28 64D:29 64E:30
64F:31 650:32 651:33 652:34 653-654:230 655-656:220 657-65B:230 65C:220 65D-65E:230 65F:220 670:35
6D6-6DC:230 6DF-6E2:230 6E3:220 6E4:230 6E7-6E8:230 6EA:220 6EB-6EC:230 6ED:220 711:36 730:230
731:220 732-733:230 734:220 735-736:230 737-739:220 73A:230 73B-73C:220 73D:230 73E:220
73F-741:230 742:220 743:230 744:220 745:230 746:220 747:230 748:220 749-74A:230 7EB-7F1:230
7F2:220 7F3:230 7FD:220 816-819:230 81B-823:230 825-827:230 829-82D:230 859-85B:220 897-898:230
899-89B:220 89C-89F:230 8CA-8CE:230 8CF-8D3:220 8D4-8E1:230 8E3:220 8E4-8E5:230 8E6:220
8E7-8E8:230 8E9:220 8EA-8EC:230 8ED-8EF:220 8F0:27 8F1:28 8F2:29 8F3-8F5:230 8F6:220 8F7-8F8:230
8F9-8FA:220 8FB-8FF:230 93C:7 94D:9 951:230 952:220 953-954:230 9BC:7 9CD:9 9FE:230 A3C:7 A4D:9
ABC:7 ACD:9 B3C:7 B4D:9 BCD:9 C3C:7 C4D:9 C55:84 C56:91 CBC:7 CCD:9 D3B-D3C:9 D4D:9 DCA:9
E38-E39:103 E3A:9 E48-E4B:107 EB8-EB9:118 EBA:9 EC8-ECB:122 F18-F19:220 F35:220 F37:220 F39:216
F71:129 F72:130 F74:132 F7A-F7D:130 F80:130 F82-F83:230 F84:9 F86-F87:230 FC6:220 1037:7
1039-103A:9 108D:220 135D-135F:230 1714-1715:9 1734:9 17D2:9 17DD:230 18A9:228 1939:222 193A:230
193B:220 1A17:230 1A18:220 1A60:9 1A75-1A7C:230 1A7F:220 1AB0-1AB4:230 1AB5-1ABA:220 1ABB-1ABC:230
1ABD:220 1ABF-1AC0:220 1AC1-1AC2:230 1AC3-1AC4:220 1AC5-1AC9:230 1ACA:220 1ACB-1ADC:230 1ADD:220
1AE0-1AE5:230 1AE6:220 1AE7-1AEA:230 1AEB:234 1B34:7 1B44:9 1B6B:230 1B6C:220 1B6D-1B73:230
1BAA-1BAB:9 1BE6:7 1BF2-1BF3:9 1C37:7 1CD0-1CD2:230 1CD4:1 1CD5-1CD9:220 1CDA-1CDB:230
1CDC-1CDF:220 1CE0:230 1CE2-1CE8:1 1CED:220 1CF4:230 1CF8-1CF9:230 1DC0-1DC1:230 1DC2:220
1DC3-1DC9:230 1DCA:220 1DCB-1DCC:230 1DCD:234 1DCE:214 1DCF:220 1DD0:202 1DD1-1DF5:230 1DF6:232
1DF7-1DF8:228 1DF9:220 1DFA:218 1DFB:230 1DFC:233 1DFD:220 1DFE:230 1DFF:220 20D0-20D1:230
20D2-20D3:1 20D4-20D7:230 20D8-20DA:1 20DB-20DC:230 20E1:230 20E5-20E6:1 20E7:230 20E8:220
20E9:230 20EA-20EB:1 20EC-20EF:220 20F0:230 2CEF-2CF1:230 2D7F:9 2DE0-2DFF:230 302A:218 302B:228
302C:232 302D:222 302E-302F:224 3099-309A:8 A66F:230 A674-A67D:230 A69E-A69F:230 A6F0-A6F1:230
A806:9 A82C:9 A8C4:9 A8E0-A8F1:230 A92B-A92D:220 A953:9 A9B3:7 A9C0:9 AAB0:230 AAB2-AAB3:230
AAB4:220 AAB7-AAB8:230 AABE-AABF:230 AAC1:230 AAF6:9 ABED:9 FB1E:26 FE20-FE26:230 FE27-FE2D:220
FE2E-FE2F:230 101FD:220 102E0:220 10376-1037A:230 10A0D:220 10A0F:230 10A38:230 10A39:1 10A3A:220
10A3F:9 10AE5:230 10AE6:220 10D24-10D27:230 10D69-10D6D:230 10EAB-10EAC:230 10EFA-10EFB:220
10EFD-10EFF:220 10F46-10F47:220 10F48-10F4A:230 10F4B:220 10F4C:230 10F4D-10F50:220 10F82:230
10F83:220 10F84:230 10F85:220 11046:9 11070:9 1107F:9 110B9:9 110BA:7 11100-11102:230
11133-11134:9 11173:7 111C0:9 111CA:7 11235:9 11236:7 112E9:7 112EA:9 1133B-1133C:7 1134D:9
11366-1136C:230 11370-11374:230 113CE-113D0:9 11442:9 11446:7 1145E:230 114C2:9 114C3:7 115BF:9
115C0:7 1163F:9 116B6:9 116B7:7 1172B:9 11839:9 1183A:7 1193D-1193E:9 11943:7 119E0:9 11A34:9
11A47:9 11A99:9 11C3F:9 11D42:7 11D44-11D45:9 11D97:9 11F41-11F42:9 1612F:9 16AF0-16AF4:1
16B30-16B36:230 16FF0-16FF1:6 1BC9E:1 1D165-1D166:216 1D167-1D169:1 1D16D:226 1D16E-1D172:216
1D17B-1D182:220 1D185-1D189:230 1D18A-1D18B:220 1D1AA-1D1AD:230 1D242-1D244:230 1E000-1E006:230
1E008-1E018:230 1E01B-1E021:230 1E023-1E024:230 1E026-1E02A:230 1E08F:230 1E130-1E136:230
1E2AE:230 1E2EC-1E2EF:230 1E4EC-1E4ED:232 1E4EE:220 1E4EF:230 1E5EE:230 1E5EF:220 1E6E3:230
1E6E6:230 1E6EE-1E6EF:230 1E6F5:230 1E8D0-1E8D6:220 1E944-1E949:230 1E94A:7"

def compositionRows : String := "
41.300=C0 41.301=C1 41.302=C2 41.303=C3 41.308=C4 41.30A=C5 43.327=C7 45.300=C8 45.301=C9
45.302=CA 45.308=CB 49.300=CC 49.301=CD 49.302=CE 49.308=CF 4E.303=D1 4F.300=D2 4F.301=D3
4F.302=D4 4F.303=D5 4F.308=D6 55.300=D9 55.301=DA 55.302=DB 55.308=DC 59.301=DD 61.300=E0
61.301=E1 61.302=E2 61.303=E3 61.308=E4 61.30A=E5 63.327=E7 65.300=E8 65.301=E9 65.302=EA
65.308=EB 69.300=EC 69.301=ED 69.302=EE 69.308=EF 6E.303=F1 6F.300=F2 6F.301=F3 6F.302=F4
6F.303=F5 6F.308=F6 75.300=F9 75.301=FA 75.302=FB 75.308=FC 79.301=FD 79.308=FF 41.304=100
61.304=101 41.306=102 61.306=103 41.328=104 61.328=105 43.301=106 63.301=107 43.302=108 63.302=109
43.307=10A 63.307=10B 43.30C=10C 63.30C=10D 44.30C=10E 64.30C=10F 45.304=112 65.304=113 45.306=114
65.306=115 45.307=116 65.307=117 45.328=118 65.328=119 45.30C=11A 65.30C=11B 47.302=11C 67.302=11D
47.306=11E 67.306=11F 47.307=120 67.307=121 47.327=122 67.327=123 48.302=124 68.302=125 49.303=128
69.303=129 49.304=12A 69.304=12B 49.306=12C 69.306=12D 49.328=12E 69.328=12F 49.307=130 4A.302=134
6A.302=135 4B.327=136 6B.327=137 4C.301=139 6C.301=13A 4C.327=13B 6C.327=13C 4C.30C=13D 6C.30C=13E
4E.301=143 6E.301=144 4E.327=145 6E.327=146 4E.30C=147 6E.30C=148 4F.304=14C 6F.304=14D 4F.306=14E
6F.306=14F 4F.30B=150 6F.30B=151 52.301=154 72.301=155 52.327=156 72.327=157 52.30C=158 72.30C=159
53.301=15A 73.301=15B 53.302=15C 73.302=15D 53.327=15E 73.327=15F 53.30C=160 73.30C=161 54.327=162
74.327=163 54.30C=164 74.30C=165 55.303=168 75.303=169 55.304=16A 75.304=16B 55.306=16C 75.306=16D
55.30A=16E 75.30A=16F 55.30B=170 75.30B=171 55.328=172 75.328=173 57.302=174 77.302=175 59.302=176
79.302=177 59.308=178 5A.301=179 7A.301=17A 5A.307=17B 7A.307=17C 5A.30C=17D 7A.30C=17E 4F.31B=1A0
6F.31B=1A1 55.31B=1AF 75.31B=1B0 41.30C=1CD 61.30C=1CE 49.30C=1CF 69.30C=1D0 4F.30C=1D1 6F.30C=1D2
55.30C=1D3 75.30C=1D4 DC.304=1D5 FC.304=1D6 DC.301=1D7 FC.301=1D8 DC.30C=1D9 FC.30C=1DA DC.300=1DB
FC.300=1DC C4.304=1DE E4.304=1DF 226.304=1E0 227.304=1E1 C6.304=1E2 E6.304=1E3 47.30C=1E6
67.30C=1E7 4B.30C=1E8 6B.30C=1E9 4F.328=1EA 6F.328=1EB 1EA.304=1EC 1EB.304=1ED 1B7.30C=1EE
292.30C=1EF 6A.30C=1F0 47.301=1F4 67.301=1F5 4E.300=1F8 6E.300=1F9 C5.301=1FA E5.301=1FB
C6.301=1FC E6.301=1FD D8.301=1FE F8.301=1FF 41.30F=200 61.30F=201 41.311=202 61.311=203 45.30F=204
65.30F=205 45.311=206 65.311=207 49.30F=208 69.30F=209 49.311=20A 69.311=20B 4F.30F=20C 6F.30F=20D
4F.311=20E 6F.311=20F 52.30F=210 72.30F=211 52.311=212 72.311=213 55.30F=214 75.30F=215 55.311=216
75.311=217 53.326=218 73.326=219 54.326=21A 74.326=21B 48.30C=21E 68.30C=21F 41.307=226 61.307=227
45.327=228 65.327=229 D6.304=22A F6.304=22B D5.304=22C F5.304=22D 4F.307=22E 6F.307=22F
22E.304=230 22F.304=231 59.304=232 79.304=233 A8.301=385 391.301=386 395.301=388 397.301=389
399.301=38A 39F.301=38C 3A5.301=38E 3A9.301=38F 3CA.301=390 399.308=3AA 3A5.308=3AB 3B1.301=3AC
3B5.301=3AD 3B7.301=3AE 3B9.301=3AF 3CB.301=3B0 3B9.308=3CA 3C5.308=3CB 3BF.301=3CC 3C5.301=3CD
3C9.301=3CE 3D2.301=3D3 3D2.308=3D4 415.300=400 415.308=401 413.301=403 406.308=407 41A.301=40C
418.300=40D 423.306=40E 418.306=419 438.306=439 435.300=450 435.308=451 433.301=453 456.308=457
43A.301=45C 438.300=45D 443.306=45E 474.30F=476 475.30F=477 416.306=4C1 436.306=4C2 410.306=4D0
430.306=4D1 410.308=4D2 430.308=4D3 415.306=4D6 435.306=4D7 4D8.308=4DA 4D9.308=4DB 416.308=4DC
436.308=4DD 417.308=4DE 437.308=4DF 418.304=4E2 438.304=4E3 418.308=4E4 438.308=4E5 41E.308=4E6
43E.308=4E7 4E8.308=4EA 4E9.308=4EB 42D.308=4EC 44D.308=4ED 423.304=4EE 443.304=4EF 423.308=4F0
443.308=4F1 423.30B=4F2 443.30B=4F3 427.308=4F4 447.308=4F5 42B.308=4F8 44B.308=4F9 627.653=622
627.654=623 648.654=624 627.655=625 64A.654=626 6D5.654=6C0 6C1.654=6C2 6D2.654=6D3 928.93C=929
930.93C=931 933.93C=934 9C7.9BE=9CB 9C7.9D7=9CC B47.B56=B48 B47.B3E=B4B B47.B57=B4C B92.BD7=B94
BC6.BBE=BCA BC7.BBE=BCB BC6.BD7=BCC C46.C56=C48 CBF.CD5=CC0 CC6.CD5=CC7 CC6.CD6=CC8 CC6.CC2=CCA
CCA.CD5=CCB D46.D3E=D4A D47.D3E=D4B D46.D57=D4C DD9.DCA=DDA DD9.DCF=DDC DDC.DCA=DDD DD9.DDF=DDE
1025.102E=1026 1B05.1B35=1B06 1B07.1B35=1B08 1B09.1B35=1B0A 1B0B.1B35=1B0C 1B0D.1B35=1B0E
1B11.1B35=1B12 1B3A.1B35=1B3B 1B3C.1B35=1B3D 1B3E.1B35=1B40 1B3F.1B35=1B41 1B42.1B35=1B43
41.325=1E00 61.325=1E01 42.307=1E02 62.307=1E03 42.323=1E04 62.323=1E05 42.331=1E06 62.331=1E07
C7.301=1E08 E7.301=1E09 44.307=1E0A 64.307=1E0B 44.323=1E0C 64.323=1E0D 44.331=1E0E 64.331=1E0F
44.327=1E10 64.327=1E11 44.32D=1E12 64.32D=1E13 112.300=1E14 113.300=1E15 112.301=1E16
113.301=1E17 45.32D=1E18 65.32D=1E19 45.330=1E1A 65.330=1E1B 228.306=1E1C 229.306=1E1D 46.307=1E1E
66.307=1E1F 47.304=1E20 67.304=1E21 48.307=1E22 68.307=1E23 48.323=1E24 68.323=1E25 48.308=1E26
68.308=1E27 48.327=1E28 68.327=1E29 48.32E=1E2A 68.32E=1E2B 49.330=1E2C 69.330=1E2D CF.301=1E2E
EF.301=1E2F 4B.301=1E30 6B.301=1E31 4B.323=1E32 6B.323=1E33 4B.331=1E34 6B.331=1E35 4C.323=1E36
6C.323=1E37 1E36.304=1E38 1E37.304=1E39 4C.331=1E3A 6C.331=1E3B 4C.32D=1E3C 6C.32D=1E3D
4D.301=1E3E 6D.301=1E3F 4D.307=1E40 6D.307=1E41 4D.323=1E42 6D.323=1E43 4E.307=1E44 6E.307=1E45
4E.323=1E46 6E.323=1E47 4E.331=1E48 6E.331=1E49 4E.32D=1E4A 6E.32D=1E4B D5.301=1E4C F5.301=1E4D
D5.308=1E4E F5.308=1E4F 14C.300=1E50 14D.300=1E51 14C.301=1E52 14D.301=1E53 50.301=1E54
70.301=1E55 50.307=1E56 70.307=1E57 52.307=1E58 72.307=1E59 52.323=1E5A 72.323=1E5B 1E5A.304=1E5C
1E5B.304=1E5D 52.331=1E5E 72.331=1E5F 53.307=1E60 73.307=1E61 53.323=1E62 73.323=1E63 15A.307=1E64
15B.307=1E65 160.307=1E66 161.307=1E67 1E62.307=1E68 1E63.307=1E69 54.307=1E6A 74.307=1E6B
54.323=1E6C 74.323=1E6D 54.331=1E6E 74.331=1E6F 54.32D=1E70 74.32D=1E71 55.324=1E72 75.324=1E73
55.330=1E74 75.330=1E75 55.32D=1E76 75.32D=1E77 168.301=1E78 169.301=1E79 16A.308=1E7A
16B.308=1E7B 56.303=1E7C 76.303=1E7D 56.323=1E7E 76.323=1E7F 57.300=1E80 77.300=1E81 57.301=1E82
77.301=1E83 57.308=1E84 77.308=1E85 57.307=1E86 77.307=1E87 57.323=1E88 77.323=1E89 58.307=1E8A
78.307=1E8B 58.308=1E8C 78.308=1E8D 59.307=1E8E 79.307=1E8F 5A.302=1E90 7A.302=1E91 5A.323=1E92
7A.323=1E93 5A.331=1E94 7A.331=1E95 68.331=1E96 74.308=1E97 77.30A=1E98 79.30A=1E99 17F.307=1E9B
41.323=1EA0 61.323=1EA1 41.309=1EA2 61.309=1EA3 C2.301=1EA4 E2.301=1EA5 C2.300=1EA6 E2.300=1EA7
C2.309=1EA8 E2.309=1EA9 C2.303=1EAA E2.303=1EAB 1EA0.302=1EAC 1EA1.302=1EAD 102.301=1EAE
103.301=1EAF 102.300=1EB0 103.300=1EB1 102.309=1EB2 103.309=1EB3 102.303=1EB4 103.303=1EB5
1EA0.306=1EB6 1EA1.306=1EB7 45.323=1EB8 65.323=1EB9 45.309=1EBA 65.309=1EBB 45.303=1EBC
65.303=1EBD CA.301=1EBE EA.301=1EBF CA.300=1EC0 EA.300=1EC1 CA.309=1EC2 EA.309=1EC3 CA.303=1EC4
EA.303=1EC5 1EB8.302=1EC6 1EB9.302=1EC7 49.309=1EC8 69.309=1EC9 49.323=1ECA 69.323=1ECB
4F.323=1ECC 6F.323=1ECD 4F.309=1ECE 6F.309=1ECF D4.301=1ED0 F4.301=1ED1 D4.300=1ED2 F4.300=1ED3
D4.309=1ED4 F4.309=1ED5 D4.303=1ED6 F4.303=1ED7 1ECC.302=1ED8 1ECD.302=1ED9 1A0.301=1EDA
1A1.301=1EDB 1A0.300=1EDC 1A1.300=1EDD 1A0.309=1EDE 1A1.309=1EDF 1A0.303=1EE0 1A1.303=1EE1
1A0.323=1EE2 1A1.323=1EE3 55.323=1EE4 75.323=1EE5 55.309=1EE6 75.309=1EE7 1AF.301=1EE8
1B0.301=1EE9 1AF.300=1EEA 1B0.300=1EEB 1AF.309=1EEC 1B0.309=1EED 1AF.303=1EEE 1B0.303=1EEF
1AF.323=1EF0 1B0.323=1EF1 59.300=1EF2 79.300=1EF3 59.323=1EF4 79.323=1EF5 59.309=1EF6 79.309=1EF7
59.303=1EF8 79.303=1EF9 3B1.313=1F00 3B1.314=1F01 1F00.300=1F02 1F01.300=1F03 1F00.301=1F04
1F01.301=1F05 1F00.342=1F06 1F01.342=1F07 391.313=1F08 391.314=1F09 1F08.300=1F0A 1F09.300=1F0B
1F08.301=1F0C 1F09.301=1F0D 1F08.342=1F0E 1F09.342=1F0F 3B5.313=1F10 3B5.314=1F11 1F10.300=1F12
1F11.300=1F13 1F10.301=1F14 1F11.301=1F15 395.313=1F18 395.314=1F19 1F18.300=1F1A 1F19.300=1F1B
1F18.301=1F1C 1F19.301=1F1D 3B7.313=1F20 3B7.314=1F21 1F20.300=1F22 1F21.300=1F23 1F20.301=1F24
1F21.301=1F25 1F20.342=1F26 1F21.342=1F27 397.313=1F28 397.314=1F29 1F28.300=1F2A 1F29.300=1F2B
1F28.301=1F2C 1F29.301=1F2D 1F28.342=1F2E 1F29.342=1F2F 3B9.313=1F30 3B9.314=1F31 1F30.300=1F32
1F31.300=1F33 1F30.301=1F34 1F31.301=1F35 1F30.342=1F36 1F31.342=1F37 399.313=1F38 399.314=1F39
1F38.300=1F3A 1F39.300=1F3B 1F38.301=1F3C 1F39.301=1F3D 1F38.342=1F3E 1F39.342=1F3F 3BF.313=1F40
3BF.314=1F41 1F40.300=1F42 1F41.300=1F43 1F40.301=1F44 1F41.301=1F45 39F.313=1F48 39F.314=1F49
1F48.300=1F4A 1F49.300=1F4B 1F48.301=1F4C 1F49.301=1F4D 3C5.313=1F50 3C5.314=1F51 1F50.300=1F52
1F51.300=1F53 1F50.301=1F54 1F51.301=1F55 1F50.342=1F56 1F51.342=1F57 3A5.314=1F59 1F59.300=1F5B
1F59.301=1F5D 1F59.342=1F5F 3C9.313=1F60 3C9.314=1F61 1F60.300=1F62 1F61.300=1F63 1F60.301=1F64
1F61.301=1F65 1F60.342=1F66 1F61.342=1F67 3A9.313=1F68 3A9.314=1F69 1F68.300=1F6A 1F69.300=1F6B
1F68.301=1F6C 1F69.301=1F6D 1F68.342=1F6E 1F69.342=1F6F 3B1.300=1F70 3B5.300=1F72 3B7.300=1F74
3B9.300=1F76 3BF.300=1F78 3C5.300=1F7A 3C9.300=1F7C 1F00.345=1F80 1F01.345=1F81 1F02.345=1F82
1F03.345=1F83 1F04.345=1F84 1F05.345=1F85 1F06.345=1F86 1F07.345=1F87 1F08.345=1F88 1F09.345=1F89
1F0A.345=1F8A 1F0B.345=1F8B 1F0C.345=1F8C 1F0D.345=1F8D 1F0E.345=1F8E 1F0F.345=1F8F 1F20.345=1F90
1F21.345=1F91 1F22.345=1F92 1F23.345=1F93 1F24.345=1F94 1F25.345=1F95 1F26.345=1F96 1F27.345=1F97
1F28.345=1F98 1F29.345=1F99 1F2A.345=1F9A 1F2B.345=1F9B 1F2C.345=1F9C 1F2D.345=1F9D 1F2E.345=1F9E
1F2F.345=1F9F 1F60.345=1FA0 1F61.345=1FA1 1F62.345=1FA2 1F63.345=1FA3 1F64.345=1FA4 1F65.345=1FA5
1F66.345=1FA6 1F67.345=1FA7 1F68.345=1FA8 1F69.345=1FA9 1F6A.345=1FAA 1F6B.345=1FAB 1F6C.345=1FAC
1F6D.345=1FAD 1F6E.345=1FAE 1F6F.345=1FAF 3B1.306=1FB0 3B1.304=1FB1 1F70.345=1FB2 3B1.345=1FB3
3AC.345=1FB4 3B1.342=1FB6 1FB6.345=1FB7 391.306=1FB8 391.304=1FB9 391.300=1FBA 391.345=1FBC
A8.342=1FC1 1F74.345=1FC2 3B7.345=1FC3 3AE.345=1FC4 3B7.342=1FC6 1FC6.345=1FC7 395.300=1FC8
397.300=1FCA 397.345=1FCC 1FBF.300=1FCD 1FBF.301=1FCE 1FBF.342=1FCF 3B9.306=1FD0 3B9.304=1FD1
3CA.300=1FD2 3B9.342=1FD6 3CA.342=1FD7 399.306=1FD8 399.304=1FD9 399.300=1FDA 1FFE.300=1FDD
1FFE.301=1FDE 1FFE.342=1FDF 3C5.306=1FE0 3C5.304=1FE1 3CB.300=1FE2 3C1.313=1FE4 3C1.314=1FE5
3C5.342=1FE6 3CB.342=1FE7 3A5.306=1FE8 3A5.304=1FE9 3A5.300=1FEA 3A1.314=1FEC A8.300=1FED
1F7C.345=1FF2 3C9.345=1FF3 3CE.345=1FF4 3C9.342=1FF6 1FF6.345=1FF7 39F.300=1FF8 3A9.300=1FFA
3A9.345=1FFC 2190.338=219A 2192.338=219B 2194.338=21AE 21D0.338=21CD 21D4.338=21CE 21D2.338=21CF
2203.338=2204 2208.338=2209 220B.338=220C 2223.338=2224 2225.338=2226 223C.338=2241 2243.338=2244
2245.338=2247 2248.338=2249 3D.338=2260 2261.338=2262 224D.338=226D 3C.338=226E 3E.338=226F
2264.338=2270 2265.338=2271 2272.338=2274 2273.338=2275 2276.338=2278 2277.338=2279 227A.338=2280
227B.338=2281 2282.338=2284 2283.338=2285 2286.338=2288 2287.338=2289 22A2.338=22AC 22A8.338=22AD
22A9.338=22AE 22AB.338=22AF 227C.338=22E0 227D.338=22E1 2291.338=22E2 2292.338=22E3 22B2.338=22EA
22B3.338=22EB 22B4.338=22EC 22B5.338=22ED 304B.3099=304C 304D.3099=304E 304F.3099=3050
3051.3099=3052 3053.3099=3054 3055.3099=3056 3057.3099=3058 3059.3099=305A 305B.3099=305C
305D.3099=305E 305F.3099=3060 3061.3099=3062 3064.3099=3065 3066.3099=3067 3068.3099=3069
306F.3099=3070 306F.309A=3071 3072.3099=3073 3072.309A=3074 3075.3099=3076 3075.309A=3077
3078.3099=3079 3078.309A=307A 307B.3099=307C 307B.309A=307D 3046.3099=3094 309D.3099=309E
30AB.3099=30AC 30AD.3099=30AE 30AF.3099=30B0 30B1.3099=30B2 30B3.3099=30B4 30B5.3099=30B6
30B7.3099=30B8 30B9.3099=30BA 30BB.3099=30BC 30BD.3099=30BE 30BF.3099=30C0 30C1.3099=30C2
30C4.3099=30C5 30C6.3099=30C7 30C8.3099=30C9 30CF.3099=30D0 30CF.309A=30D1 30D2.3099=30D3
30D2.309A=30D4 30D5.3099=30D6 30D5.309A=30D7 30D8.3099=30D9 30D8.309A=30DA 30DB.3099=30DC
30DB.309A=30DD 30A6.3099=30F4 30EF.3099=30F7 30F0.3099=30F8 30F1.3099=30F9 30F2.3099=30FA
30FD.3099=30FE 105D2.307=105C9 105DA.307=105E4 11099.110BA=1109A 1109B.110BA=1109C
110A5.110BA=110AB 11131.11127=1112E 11132.11127=1112F 11347.1133E=1134B 11347.11357=1134C
11382.113C9=11383 11384.113BB=11385 1138B.113C2=1138E 11390.113C9=11391 113C2.113C2=113C5
113C2.113B8=113C7 113C2.113C9=113C8 114B9.114BA=114BB 114B9.114B0=114BC 114B9.114BD=114BE
115B8.115AF=115BA 115B9.115AF=115BB 11935.11930=11938 1611E.1611E=16121 1611E.16129=16122
1611E.1611F=16123 16129.1611F=16124 1611E.16120=16125 16121.1611F=16126 16122.1611F=16127
16121.16120=16128 16D67.16D67=16D68 16D63.16D67=16D69 16D69.16D67=16D6A"

def readComposition (word : List Char) : (Nat × Nat) × Char :=
  let (first, rest) := readHex 0 word
  let (second, rest) := readHex 0 (rest.drop 1)
  ((first, second), Char.ofNat (hexValue (rest.drop 1)))

def compositionTable : Std.HashMap (Nat × Nat) Char :=
  .ofList ((words compositionRows.toList).map readComposition)

def combiningClass (c : Char) : Nat :=
  ((combiningClassTable.tag? c).bind String.toNat?).getD 0

def decomposeHangul (n : Nat) : List Char :=
  let i := n - 0xAC00
  let head := [Char.ofNat (0x1100 + i / 588), Char.ofNat (0x1161 + i % 588 / 28)]
  if i % 28 = 0 then head else head ++ [Char.ofNat (0x11A7 + i % 28)]

def decompose (c : Char) : List Char :=
  if 0xAC00 ≤ c.toNat ∧ c.toNat ≤ 0xD7A3 then decomposeHangul c.toNat
  else (decompositionTable.image? c).getD [c]

def compose? (a b : Char) : Option Char :=
  let m := a.toNat
  let n := b.toNat
  if 0x1100 ≤ m ∧ m ≤ 0x1112 ∧ 0x1161 ≤ n ∧ n ≤ 0x1175 then
    some (Char.ofNat (0xAC00 + ((m - 0x1100) * 21 + (n - 0x1161)) * 28))
  else if 0xAC00 ≤ m ∧ m ≤ 0xD7A3 ∧ (m - 0xAC00) % 28 = 0 ∧ 0x11A8 ≤ n ∧ n ≤ 0x11C2 then
    some (Char.ofNat (m + (n - 0x11A7)))
  else compositionTable[(m, n)]?

/-- Puts a mark behind the text, which is given last character first, and moves it
forward past the marks of a higher class. -/
def insertMark (x : Char × Nat) : List (Char × Nat) → List (Char × Nat)
  | [] => [x]
  | y :: ys => if x.2 ≠ 0 ∧ x.2 < y.2 then y :: insertMark x ys else x :: y :: ys

def canonicalOrder (cs : List Char) : List (Char × Nat) :=
  ((cs.flatMap decompose).foldl (fun done c => insertMark (c, combiningClass c) done) []).reverse

/-- Composes with the last base character. `marks` are those that follow it uncomposed,
last first, and `high` is the class of the last of them. -/
def composeFrom (base : Char) (marks : List Char) (high : Nat) : List (Char × Nat) → List Char
  | [] => base :: marks.reverse
  | (c, rank) :: rest =>
    match if marks.isEmpty || high < rank then compose? base c else none with
    | some composed => composeFrom composed marks high rest
    | none =>
      if rank = 0 then base :: marks.reverse ++ composeFrom c [] 0 rest
      else composeFrom base (c :: marks) rank rest

def recompose : List (Char × Nat) → List Char
  | [] => []
  | (c, rank) :: rest => if rank = 0 then composeFrom c [] 0 rest else c :: recompose rest

def normalize (cs : List Char) : List Char :=
  if cs.all (·.toNat < 0x300) then cs else recompose (canonicalOrder cs)

end StanzaLint.Text
